/-!
# Short codes of pictures

The names that stand for pictures, with the code points of the pictures. An entry is
a picture, an equals sign, and its names with commas between them; the code points of
a picture are hexadecimal with hyphens between them. A name with a plus sign has
further names that are made from it.
-/

namespace Scratchpad.Console

/-- Pictures from U+23 on. -/
def picturesA : List String :=
  ["23-20e3=keycap_number_sign 23-fe0f-20e3=keycap_# 2a-20e3=keycap_asterisk",
   "2a-fe0f-20e3=keycap_* 30-20e3=keycap_digit_zero 30-fe0f-20e3=keycap_0,zero",
   "31-20e3=keycap_digit_one 31-fe0f-20e3=keycap_1,one 32-20e3=keycap_digit_two",
   "32-fe0f-20e3=keycap_2,two 33-20e3=keycap_digit_three 33-fe0f-20e3=keycap_3,three",
   "34-20e3=keycap_digit_four 34-fe0f-20e3=four,keycap_4 35-20e3=keycap_digit_five",
   "35-fe0f-20e3=five,keycap_5 36-20e3=keycap_digit_six 36-fe0f-20e3=keycap_6,six",
   "37-20e3=keycap_digit_seven 37-fe0f-20e3=keycap_7,seven 38-20e3=keycap_digit_eight",
   "38-fe0f-20e3=eight,keycap_8 39-20e3=keycap_digit_nine 39-fe0f-20e3=keycap_9,nine a9=copyright",
   "ae=registered 203c=bangbang,double_exclamation_mark",
   "2049=exclamation_question_mark,interrobang 2122=tm,trade_mark",
   "2139=information,information_source 2194=left-right_arrow,left_right_arrow",
   "2195=arrow_up_down,up-down_arrow 2196=arrow_upper_left,up-left_arrow",
   "2197=arrow_upper_right,up-right_arrow 2198=arrow_lower_right,down-right_arrow",
   "2199=arrow_lower_left,down-left_arrow 21a9=leftwards_arrow_with_hook,right_arrow_curving_left",
   "21aa=arrow_right_hook,left_arrow_curving_right 231a=watch 231b=hourglass,hourglass_done",
   "2328=keyboard 2388=helm_symbol 23cf=eject_button,eject_symbol",
   "23e9=fast-forward_button,fast_forward 23ea=fast_reverse_button,rewind",
   "23eb=arrow_double_up,fast_up_button 23ec=arrow_double_down,fast_down_button",
   "23ed=black_right__pointing_double_triangle_with_vertical_bar,next_track_button",
   "23ee=black_left__pointing_double_triangle_with_vertical_bar,last_track_button",
   "23ef=black_right__pointing_triangle_with_double_vertical_bar,play_or_pause_button",
   "23f0=alarm_clock 23f1=stopwatch 23f2=timer_clock",
   "23f3=hourglass_flowing_sand,hourglass_not_done 23f8=double_vertical_bar,pause_button",
   "23f9=black_square_for_stop,stop_button 23fa=black_circle_for_record,record_button",
   "24c2=circled_m,m 25aa=black_small_square 25ab=white_small_square",
   "25b6=arrow_forward,play_button 25c0=arrow_backward,reverse_button 25fb=white_medium_square",
   "25fc=black_medium_square 25fd=white_medium-small_square,white_medium_small_square",
   "25fe=black_medium-small_square,black_medium_small_square 2600=sun,sunny 2601=cloud",
   "2602=umbrella 2603=snowman 2604=comet 260e=phone,telephone 2611=ballot_box_with_check",
   "2614=umbrella_with_rain_drops 2615=coffee,hot_beverage 2618=shamrock",
   "261d=index_pointing_up+,point_up 2620=skull_and_crossbones 2622=radioactive,radioactive_sign",
   "2623=biohazard,biohazard_sign 2626=orthodox_cross 262a=star_and_crescent 262e=peace_symbol",
   "262f=yin_yang 2638=wheel_of_dharma 2639=frowning_face,white_frowning_face",
   "263a=relaxed,smiling_face 2640=female_sign 2642=male_sign 2648=aries 2649=taurus 264a=gemini",
   "264b=cancer 264c=leo 264d=virgo 264e=libra 264f=scorpio,scorpius 2650=sagittarius",
   "2651=capricorn 2652=aquarius 2653=pisces 265f=chess_pawn 2660=spade_suit,spades",
   "2663=club_suit,clubs 2665=heart_suit,hearts 2666=diamond_suit,diamonds",
   "2668=hot_springs,hotsprings 267b=recycle,recycling_symbol 267e=infinity",
   "267f=wheelchair,wheelchair_symbol 2692=hammer_and_pick 2693=anchor 2694=crossed_swords",
   "2695=medical_symbol 2696=balance_scale,scales 2697=alembic 2699=gear 269b=atom_symbol",
   "269c=fleur-de-lis,fleur__de__lis 26a0=warning 26a1=high_voltage,zap 26aa=white_circle",
   "26ab=black_circle 26b0=coffin 26b1=funeral_urn 26bd=soccer,soccer_ball 26be=baseball",
   "26c4=snowman_without_snow 26c5=partly_sunny,sun_behind_cloud",
   "26c8=cloud_with_lightning_and_rain,thunder_cloud_and_rain 26ce=ophiuchus 26cf=pick",
   "26d1=helmet_with_white_cross,rescue_worker’s_helmet 26d3=chains 26d4=no_entry",
   "26e9=shinto_shrine 26ea=church 26f0=mountain 26f1=umbrella_on_ground 26f2=fountain",
   "26f3=flag_in_hole,golf 26f4=ferry 26f5=boat,sailboat 26f7=skier 26f8=ice_skate",
   "26f9=person_bouncing_ball+,person_with_ball 26f9-fe0f-200d-2640-fe0f=woman_bouncing_ball+",
   "26f9-fe0f-200d-2642-fe0f=man_bouncing_ball+ 26fa=tent 26fd=fuel_pump,fuelpump 2702=scissors",
   "2705=white_check_mark,white_heavy_check_mark 2708=airplane 2709=email,envelope",
   "270a=fist,raised_fist+ 270b=hand,raised_hand+ 270c=v,victory_hand+ 270d=writing_hand+",
   "270f=pencil2 2712=black_nib 2714=heavy_check_mark 2716=heavy_multiplication_x",
   "271d=latin_cross 2721=star_of_david 2728=sparkles",
   "2733=eight-spoked_asterisk,eight_spoked_asterisk",
   "2734=eight-pointed_star,eight_pointed_black_star 2744=snowflake 2747=sparkle",
   "274c=cross_mark,x 274e=cross_mark_button,negative_squared_cross_mark",
   "2753=question,question_mark 2754=grey_question,white_question_mark",
   "2755=grey_exclamation,white_exclamation_mark",
   "2757=exclamation,exclamation_mark,heavy_exclamation_mark",
   "2763=heavy_heart_exclamation,heavy_heart_exclamation_mark_ornament 2764=heart,red_heart",
   "2795=heavy_plus_sign 2796=heavy_minus_sign 2797=heavy_division_sign",
   "27a1=arrow_right,right_arrow 27b0=curly_loop 27bf=double_curly_loop,loop",
   "2934=arrow_heading_up,right_arrow_curving_up 2935=arrow_heading_down,right_arrow_curving_down",
   "2b05=arrow_left,left_arrow 2b06=arrow_up,up_arrow 2b07=arrow_down,down_arrow",
   "2b1b=black_large_square 2b1c=white_large_square 2b50=star,white_medium_star",
   "2b55=heavy_large_circle,o 3030=wavy_dash 303d=part_alternation_mark",
   "3297=congratulations,japanese_congratulations_button 3299=japanese_secret_button,secret",
   "1f004=mahjong,mahjong_red_dragon 1f0cf=black_joker,joker 1f170=a,a_button_(blood_type)",
   "1f171=b,b_button_(blood_type) 1f17e=o2,o_button_(blood_type) 1f17f=p_button,parking",
   "1f18e=ab,ab_button_(blood_type) 1f191=cl,cl_button 1f192=cool,cool_button",
   "1f193=free,free_button 1f194=id,id_button 1f195=new,new_button 1f196=ng,ng_button",
   "1f197=ok,ok_button 1f198=sos,sos_button 1f199=up,up!_button 1f19a=vs,vs_button",
   "1f1e6=regional_indicator_a,regional_indicator_symbol_letter_a 1f1e6-1f1e8=ascension_island+",
   "1f1e6-1f1e9=andorra+ 1f1e6-1f1ea=united_arab_emirates+ 1f1e6-1f1eb=afghanistan+",
   "1f1e6-1f1ec=antigua_&_barbuda+ 1f1e6-1f1ee=anguilla+ 1f1e6-1f1f1=albania+",
   "1f1e6-1f1f2=armenia+ 1f1e6-1f1f4=angola+ 1f1e6-1f1f6=antarctica+ 1f1e6-1f1f7=argentina+",
   "1f1e6-1f1f8=american_samoa+ 1f1e6-1f1f9=austria+ 1f1e6-1f1fa=australia+ 1f1e6-1f1fc=aruba+",
   "1f1e6-1f1fd=åland_islands+ 1f1e6-1f1ff=azerbaijan+",
   "1f1e7=regional_indicator_b,regional_indicator_symbol_letter_b",
   "1f1e7-1f1e6=bosnia_&_herzegovina+ 1f1e7-1f1e7=barbados+ 1f1e7-1f1e9=bangladesh+",
   "1f1e7-1f1ea=belgium+ 1f1e7-1f1eb=burkina_faso+ 1f1e7-1f1ec=bulgaria+ 1f1e7-1f1ed=bahrain+",
   "1f1e7-1f1ee=burundi+ 1f1e7-1f1ef=benin+ 1f1e7-1f1f1=st._barthélemy+ 1f1e7-1f1f2=bermuda+",
   "1f1e7-1f1f3=brunei+ 1f1e7-1f1f4=bolivia+ 1f1e7-1f1f6=caribbean_netherlands+",
   "1f1e7-1f1f7=brazil+ 1f1e7-1f1f8=bahamas+ 1f1e7-1f1f9=bhutan+ 1f1e7-1f1fb=bouvet_island+",
   "1f1e7-1f1fc=botswana+ 1f1e7-1f1fe=belarus+ 1f1e7-1f1ff=belize+",
   "1f1e8=regional_indicator_c,regional_indicator_symbol_letter_c 1f1e8-1f1e6=canada+",
   "1f1e8-1f1e8=cocos_(keeling)_islands,flag_for_cocos__islands",
   "1f1e8-1f1e9=congo_-_kinshasa,flag_for_congo____kinshasa 1f1e8-1f1eb=central_african_republic+",
   "1f1e8-1f1ec=congo_-_brazzaville,flag_for_congo____brazzaville 1f1e8-1f1ed=switzerland+",
   "1f1e8-1f1ee=côte_d’ivoire+ 1f1e8-1f1f0=cook_islands+ 1f1e8-1f1f1=chile+ 1f1e8-1f1f2=cameroon+"]

/-- Pictures from U+1F1E8 on. -/
def picturesB : List String :=
  ["1f1e8-1f1f3=china+ 1f1e8-1f1f4=colombia+ 1f1e8-1f1f5=clipperton_island+",
   "1f1e8-1f1f7=costa_rica+ 1f1e8-1f1fa=cuba+ 1f1e8-1f1fb=cape_verde+ 1f1e8-1f1fc=curaçao+",
   "1f1e8-1f1fd=christmas_island+ 1f1e8-1f1fe=cyprus+ 1f1e8-1f1ff=czechia,flag_for_czech_republic",
   "1f1e9=regional_indicator_d,regional_indicator_symbol_letter_d 1f1e9-1f1ea=germany+",
   "1f1e9-1f1ec=diego_garcia+ 1f1e9-1f1ef=djibouti+ 1f1e9-1f1f0=denmark+ 1f1e9-1f1f2=dominica+",
   "1f1e9-1f1f4=dominican_republic+ 1f1e9-1f1ff=algeria+",
   "1f1ea=regional_indicator_e,regional_indicator_symbol_letter_e 1f1ea-1f1e6=ceuta_&_melilla+",
   "1f1ea-1f1e8=ecuador+ 1f1ea-1f1ea=estonia+ 1f1ea-1f1ec=egypt+ 1f1ea-1f1ed=western_sahara+",
   "1f1ea-1f1f7=eritrea+ 1f1ea-1f1f8=spain+ 1f1ea-1f1f9=ethiopia+ 1f1ea-1f1fa=european_union+",
   "1f1eb=regional_indicator_f,regional_indicator_symbol_letter_f 1f1eb-1f1ee=finland+",
   "1f1eb-1f1ef=fiji+ 1f1eb-1f1f0=falkland_islands+ 1f1eb-1f1f2=micronesia+",
   "1f1eb-1f1f4=faroe_islands+ 1f1eb-1f1f7=france+",
   "1f1ec=regional_indicator_g,regional_indicator_symbol_letter_g 1f1ec-1f1e6=gabon+",
   "1f1ec-1f1e7=united_kingdom+ 1f1ec-1f1e9=grenada+ 1f1ec-1f1ea=georgia+",
   "1f1ec-1f1eb=french_guiana+ 1f1ec-1f1ec=guernsey+ 1f1ec-1f1ed=ghana+ 1f1ec-1f1ee=gibraltar+",
   "1f1ec-1f1f1=greenland+ 1f1ec-1f1f2=gambia+ 1f1ec-1f1f3=guinea+ 1f1ec-1f1f5=guadeloupe+",
   "1f1ec-1f1f6=equatorial_guinea+ 1f1ec-1f1f7=greece+",
   "1f1ec-1f1f8=south_georgia_&_south_sandwich_islands+ 1f1ec-1f1f9=guatemala+ 1f1ec-1f1fa=guam+",
   "1f1ec-1f1fc=flag_for_guinea__bissau,guinea-bissau 1f1ec-1f1fe=guyana+",
   "1f1ed=regional_indicator_h,regional_indicator_symbol_letter_h",
   "1f1ed-1f1f0=flag_for_hong_kong,hong_kong_sar_china 1f1ed-1f1f2=heard_&_mcdonald_islands+",
   "1f1ed-1f1f3=honduras+ 1f1ed-1f1f7=croatia+ 1f1ed-1f1f9=haiti+ 1f1ed-1f1fa=hungary+",
   "1f1ee=regional_indicator_i,regional_indicator_symbol_letter_i 1f1ee-1f1e8=canary_islands+",
   "1f1ee-1f1e9=indonesia+ 1f1ee-1f1ea=ireland+ 1f1ee-1f1f1=israel+ 1f1ee-1f1f2=isle_of_man+",
   "1f1ee-1f1f3=india+ 1f1ee-1f1f4=british_indian_ocean_territory+ 1f1ee-1f1f6=iraq+",
   "1f1ee-1f1f7=iran+ 1f1ee-1f1f8=iceland+ 1f1ee-1f1f9=italy+",
   "1f1ef=regional_indicator_j,regional_indicator_symbol_letter_j 1f1ef-1f1ea=jersey+",
   "1f1ef-1f1f2=jamaica+ 1f1ef-1f1f4=jordan+ 1f1ef-1f1f5=flag_for_japan",
   "1f1f0=regional_indicator_k,regional_indicator_symbol_letter_k 1f1f0-1f1ea=kenya+",
   "1f1f0-1f1ec=kyrgyzstan+ 1f1f0-1f1ed=cambodia+ 1f1f0-1f1ee=kiribati+ 1f1f0-1f1f2=comoros+",
   "1f1f0-1f1f3=st._kitts_&_nevis+ 1f1f0-1f1f5=north_korea+ 1f1f0-1f1f7=south_korea+",
   "1f1f0-1f1fc=kuwait+ 1f1f0-1f1fe=cayman_islands+ 1f1f0-1f1ff=kazakhstan+",
   "1f1f1=regional_indicator_l,regional_indicator_symbol_letter_l 1f1f1-1f1e6=laos+",
   "1f1f1-1f1e7=lebanon+ 1f1f1-1f1e8=st._lucia+ 1f1f1-1f1ee=liechtenstein+ 1f1f1-1f1f0=sri_lanka+",
   "1f1f1-1f1f7=liberia+ 1f1f1-1f1f8=lesotho+ 1f1f1-1f1f9=lithuania+ 1f1f1-1f1fa=luxembourg+",
   "1f1f1-1f1fb=latvia+ 1f1f1-1f1fe=libya+",
   "1f1f2=regional_indicator_m,regional_indicator_symbol_letter_m 1f1f2-1f1e6=morocco+",
   "1f1f2-1f1e8=monaco+ 1f1f2-1f1e9=moldova+ 1f1f2-1f1ea=montenegro+ 1f1f2-1f1eb=st._martin+",
   "1f1f2-1f1ec=madagascar+ 1f1f2-1f1ed=marshall_islands+ 1f1f2-1f1f0=macedonia+",
   "1f1f2-1f1f1=mali+ 1f1f2-1f1f2=flag_for_myanmar,myanmar_(burma) 1f1f2-1f1f3=mongolia+",
   "1f1f2-1f1f4=flag_for_macau,macau_sar_china 1f1f2-1f1f5=northern_mariana_islands+",
   "1f1f2-1f1f6=martinique+ 1f1f2-1f1f7=mauritania+ 1f1f2-1f1f8=montserrat+ 1f1f2-1f1f9=malta+",
   "1f1f2-1f1fa=mauritius+ 1f1f2-1f1fb=maldives+ 1f1f2-1f1fc=malawi+ 1f1f2-1f1fd=mexico+",
   "1f1f2-1f1fe=malaysia+ 1f1f2-1f1ff=mozambique+",
   "1f1f3=regional_indicator_n,regional_indicator_symbol_letter_n 1f1f3-1f1e6=namibia+",
   "1f1f3-1f1e8=new_caledonia+ 1f1f3-1f1ea=niger+ 1f1f3-1f1eb=norfolk_island+",
   "1f1f3-1f1ec=nigeria+ 1f1f3-1f1ee=nicaragua+ 1f1f3-1f1f1=netherlands+ 1f1f3-1f1f4=norway+",
   "1f1f3-1f1f5=nepal+ 1f1f3-1f1f7=nauru+ 1f1f3-1f1fa=niue+ 1f1f3-1f1ff=new_zealand+",
   "1f1f4=regional_indicator_o,regional_indicator_symbol_letter_o 1f1f4-1f1f2=oman+",
   "1f1f5=regional_indicator_p,regional_indicator_symbol_letter_p 1f1f5-1f1e6=panama+",
   "1f1f5-1f1ea=peru+ 1f1f5-1f1eb=french_polynesia+ 1f1f5-1f1ec=papua_new_guinea+",
   "1f1f5-1f1ed=philippines+ 1f1f5-1f1f0=pakistan+ 1f1f5-1f1f1=poland+",
   "1f1f5-1f1f2=st._pierre_&_miquelon+ 1f1f5-1f1f3=pitcairn_islands+ 1f1f5-1f1f7=puerto_rico+",
   "1f1f5-1f1f8=palestinian_territories+ 1f1f5-1f1f9=portugal+ 1f1f5-1f1fc=palau+",
   "1f1f5-1f1fe=paraguay+ 1f1f6=regional_indicator_q,regional_indicator_symbol_letter_q",
   "1f1f6-1f1e6=qatar+ 1f1f7=regional_indicator_r,regional_indicator_symbol_letter_r",
   "1f1f7-1f1ea=réunion+ 1f1f7-1f1f4=romania+ 1f1f7-1f1f8=serbia+ 1f1f7-1f1fa=russia+",
   "1f1f7-1f1fc=rwanda+ 1f1f8=regional_indicator_s,regional_indicator_symbol_letter_s",
   "1f1f8-1f1e6=saudi_arabia+ 1f1f8-1f1e7=solomon_islands+ 1f1f8-1f1e8=seychelles+",
   "1f1f8-1f1e9=sudan+ 1f1f8-1f1ea=sweden+ 1f1f8-1f1ec=singapore+ 1f1f8-1f1ed=st._helena+",
   "1f1f8-1f1ee=slovenia+ 1f1f8-1f1ef=svalbard_&_jan_mayen+ 1f1f8-1f1f0=slovakia+",
   "1f1f8-1f1f1=sierra_leone+ 1f1f8-1f1f2=san_marino+ 1f1f8-1f1f3=senegal+ 1f1f8-1f1f4=somalia+",
   "1f1f8-1f1f7=suriname+ 1f1f8-1f1f8=south_sudan+ 1f1f8-1f1f9=são_tomé_&_príncipe+",
   "1f1f8-1f1fb=el_salvador+ 1f1f8-1f1fd=sint_maarten+ 1f1f8-1f1fe=syria+ 1f1f8-1f1ff=swaziland+",
   "1f1f9=regional_indicator_symbol_letter_t,regional_indicator_t 1f1f9-1f1e6=tristan_da_cunha+",
   "1f1f9-1f1e8=turks_&_caicos_islands+ 1f1f9-1f1e9=chad+",
   "1f1f9-1f1eb=french_southern_territories+ 1f1f9-1f1ec=togo+ 1f1f9-1f1ed=thailand+",
   "1f1f9-1f1ef=tajikistan+ 1f1f9-1f1f0=tokelau+ 1f1f9-1f1f1=flag_for_timor__leste,timor-leste",
   "1f1f9-1f1f2=turkmenistan+ 1f1f9-1f1f3=tunisia+ 1f1f9-1f1f4=tonga+ 1f1f9-1f1f7=flag_for_turkey",
   "1f1f9-1f1f9=trinidad_&_tobago+ 1f1f9-1f1fb=tuvalu+ 1f1f9-1f1fc=taiwan+ 1f1f9-1f1ff=tanzania+",
   "1f1fa=regional_indicator_symbol_letter_u,regional_indicator_u 1f1fa-1f1e6=ukraine+",
   "1f1fa-1f1ec=uganda+ 1f1fa-1f1f2=u.s._outlying_islands+ 1f1fa-1f1f3=united_nations",
   "1f1fa-1f1f8=united_states+ 1f1fa-1f1fe=uruguay+ 1f1fa-1f1ff=uzbekistan+",
   "1f1fb=regional_indicator_symbol_letter_v,regional_indicator_v 1f1fb-1f1e6=vatican_city+",
   "1f1fb-1f1e8=st._vincent_&_grenadines+ 1f1fb-1f1ea=venezuela+",
   "1f1fb-1f1ec=british_virgin_islands+ 1f1fb-1f1ee=u.s._virgin_islands+ 1f1fb-1f1f3=vietnam+",
   "1f1fb-1f1fa=vanuatu+ 1f1fc=regional_indicator_symbol_letter_w,regional_indicator_w",
   "1f1fc-1f1eb=wallis_&_futuna+ 1f1fc-1f1f8=samoa+",
   "1f1fd=regional_indicator_symbol_letter_x,regional_indicator_x 1f1fd-1f1f0=kosovo+",
   "1f1fe=regional_indicator_symbol_letter_y,regional_indicator_y 1f1fe-1f1ea=yemen+",
   "1f1fe-1f1f9=mayotte+ 1f1ff=regional_indicator_symbol_letter_z,regional_indicator_z",
   "1f1ff-1f1e6=south_africa+ 1f1ff-1f1f2=zambia+ 1f1ff-1f1fc=zimbabwe+",
   "1f201=japanese_here_button,koko 1f202=japanese_service_charge_button,sa",
   "1f21a=japanese_free_of_charge_button,u7121 1f22f=japanese_reserved_button,u6307",
   "1f232=japanese_prohibited_button,u7981 1f233=japanese_vacancy_button,u7a7a",
   "1f234=japanese_passing_grade_button,u5408 1f235=japanese_no_vacancy_button,u6e80",
   "1f236=japanese_not_free_of_charge_button,u6709 1f237=japanese_monthly_amount_button,u6708",
   "1f238=japanese_application_button,u7533 1f239=japanese_discount_button,u5272",
   "1f23a=japanese_open_for_business_button,u55b6",
   "1f250=ideograph_advantage,japanese_bargain_button 1f251=accept,japanese_acceptable_button"]

/-- Pictures from U+1F300 on. -/
def picturesC : List String :=
  ["1f300=cyclone 1f301=foggy 1f302=closed_umbrella 1f303=night_with_stars",
   "1f304=sunrise_over_mountains 1f305=sunrise 1f306=city_sunset,cityscape_at_dusk",
   "1f307=city_sunrise,sunset 1f308=rainbow 1f309=bridge_at_night 1f30a=ocean,water_wave",
   "1f30b=volcano 1f30c=milky_way 1f30d=earth_africa,globe_showing_europe-africa",
   "1f30e=earth_americas,globe_showing_americas 1f30f=earth_asia,globe_showing_asia-australia",
   "1f310=globe_with_meridians 1f311=new_moon 1f312=waxing_crescent_moon 1f313=first_quarter_moon",
   "1f314=moon,waxing_gibbous_moon 1f315=full_moon 1f316=waning_gibbous_moon",
   "1f317=last_quarter_moon 1f318=waning_crescent_moon 1f319=crescent_moon",
   "1f31a=new_moon_face,new_moon_with_face",
   "1f31b=first_quarter_moon_face,first_quarter_moon_with_face",
   "1f31c=last_quarter_moon_face,last_quarter_moon_with_face",
   "1f31d=full_moon_face,full_moon_with_face 1f31e=sun_with_face 1f31f=glowing_star,star2",
   "1f320=shooting_star,stars 1f321=thermometer",
   "1f324=sun_behind_small_cloud,white_sun_with_small_cloud",
   "1f325=sun_behind_large_cloud,white_sun_behind_cloud",
   "1f326=sun_behind_rain_cloud,white_sun_behind_cloud_with_rain 1f327=cloud_with_rain",
   "1f328=cloud_with_snow 1f329=cloud_with_lightning 1f32a=cloud_with_tornado,tornado 1f32b=fog",
   "1f32c=wind_blowing_face,wind_face 1f32d=hot_dog 1f32e=taco 1f32f=burrito 1f330=chestnut",
   "1f331=seedling 1f332=evergreen_tree 1f333=deciduous_tree 1f334=palm_tree 1f335=cactus",
   "1f336=hot_pepper 1f337=tulip 1f338=cherry_blossom 1f339=rose 1f33a=hibiscus 1f33b=sunflower",
   "1f33c=blossom 1f33d=corn,ear_of_corn 1f33e=ear_of_rice,sheaf_of_rice 1f33f=herb",
   "1f340=four_leaf_clover 1f341=maple_leaf 1f342=fallen_leaf",
   "1f343=leaf_fluttering_in_wind,leaves 1f344=mushroom 1f345=tomato 1f346=eggplant 1f347=grapes",
   "1f348=melon 1f349=watermelon 1f34a=tangerine 1f34b=lemon 1f34c=banana 1f34d=pineapple",
   "1f34e=apple,red_apple 1f34f=green_apple 1f350=pear 1f351=peach 1f352=cherries",
   "1f353=strawberry 1f354=hamburger 1f355=pizza 1f356=meat_on_bone 1f357=poultry_leg",
   "1f358=rice_cracker 1f359=rice_ball 1f35a=cooked_rice,rice 1f35b=curry,curry_rice",
   "1f35c=ramen,steaming_bowl 1f35d=spaghetti 1f35e=bread 1f35f=french_fries,fries",
   "1f360=roasted_sweet_potato,sweet_potato 1f361=dango 1f362=oden 1f363=sushi 1f364=fried_shrimp",
   "1f365=fish_cake,fish_cake_with_swirl 1f366=icecream,soft_ice_cream 1f367=shaved_ice",
   "1f368=ice_cream 1f369=doughnut 1f36a=cookie 1f36b=chocolate_bar 1f36c=candy 1f36d=lollipop",
   "1f36e=custard 1f36f=honey_pot 1f370=cake,shortcake 1f371=bento,bento_box",
   "1f372=pot_of_food,stew 1f373=cooking,egg 1f374=fork_and_knife 1f375=tea,teacup_without_handle",
   "1f376=sake 1f377=wine_glass 1f378=cocktail,cocktail_glass 1f379=tropical_drink",
   "1f37a=beer,beer_mug 1f37b=beers,clinking_beer_mugs 1f37c=baby_bottle",
   "1f37d=fork_and_knife_with_plate 1f37e=bottle_with_popping_cork 1f37f=popcorn 1f380=ribbon",
   "1f381=gift,wrapped_gift 1f382=birthday,birthday_cake 1f383=jack-o-lantern,jack_o_lantern",
   "1f384=christmas_tree 1f385=santa,santa_claus+ 1f386=fireworks 1f387=sparkler 1f388=balloon",
   "1f389=party_popper,tada 1f38a=confetti_ball 1f38b=tanabata_tree 1f38c=crossed_flags",
   "1f38d=bamboo,pine_decoration 1f38e=dolls,japanese_dolls 1f38f=carp_streamer,flags",
   "1f390=wind_chime 1f391=moon_viewing_ceremony,rice_scene 1f392=school_backpack,school_satchel",
   "1f393=graduation_cap,mortar_board 1f396=military_medal 1f397=reminder_ribbon",
   "1f399=studio_microphone 1f39a=level_slider 1f39b=control_knobs 1f39e=film_frames",
   "1f39f=admission_tickets 1f3a0=carousel_horse 1f3a1=ferris_wheel 1f3a2=roller_coaster",
   "1f3a3=fishing_pole,fishing_pole_and_fish 1f3a4=microphone 1f3a5=movie_camera 1f3a6=cinema",
   "1f3a7=headphone,headphones 1f3a8=art,artist_palette 1f3a9=top_hat,tophat 1f3aa=circus_tent",
   "1f3ab=ticket 1f3ac=clapper,clapper_board 1f3ad=performing_arts 1f3ae=video_game",
   "1f3af=dart,direct_hit 1f3b0=slot_machine 1f3b1=8ball,pool_8_ball 1f3b2=game_die 1f3b3=bowling",
   "1f3b4=flower_playing_cards 1f3b5=musical_note 1f3b6=musical_notes,notes 1f3b7=saxophone",
   "1f3b8=guitar 1f3b9=musical_keyboard 1f3ba=trumpet 1f3bb=violin 1f3bc=musical_score",
   "1f3bd=running_shirt,running_shirt_with_sash 1f3be=tennis 1f3bf=ski,skis 1f3c0=basketball",
   "1f3c1=checkered_flag,chequered_flag 1f3c2=snowboarder+ 1f3c3=person_running+,runner,running",
   "1f3c3-200d-2640-fe0f=woman_running+ 1f3c3-200d-2642-fe0f=man_running+",
   "1f3c4=person_surfing+,surfer 1f3c4-200d-2640-fe0f=woman_surfing+",
   "1f3c4-200d-2642-fe0f=man_surfing+ 1f3c5=sports_medal 1f3c6=trophy 1f3c7=horse_racing+",
   "1f3c8=american_football,football 1f3c9=rugby_football 1f3ca=person_swimming+,swimmer",
   "1f3ca-200d-2640-fe0f=woman_swimming+ 1f3ca-200d-2642-fe0f=man_swimming+",
   "1f3cb=person_lifting_weights+,weight_lifter 1f3cb-fe0f-200d-2640-fe0f=woman_lifting_weights+",
   "1f3cb-fe0f-200d-2642-fe0f=man_lifting_weights+ 1f3cc=golfer,person_golfing+",
   "1f3cc-fe0f-200d-2640-fe0f=woman_golfing+ 1f3cc-fe0f-200d-2642-fe0f=man_golfing+",
   "1f3cd=motorcycle,racing_motorcycle 1f3ce=racing_car 1f3cf=cricket_bat_and_ball,cricket_game",
   "1f3d0=volleyball 1f3d1=field_hockey,field_hockey_stick_and_ball",
   "1f3d2=ice_hockey,ice_hockey_stick_and_puck 1f3d3=ping_pong,table_tennis_paddle_and_ball",
   "1f3d4=snow-capped_mountain,snow_capped_mountain 1f3d5=camping 1f3d6=beach_with_umbrella",
   "1f3d7=building_construction 1f3d8=house_buildings,houses 1f3d9=cityscape",
   "1f3da=derelict_house,derelict_house_building 1f3db=classical_building 1f3dc=desert",
   "1f3dd=desert_island 1f3de=national_park 1f3df=stadium 1f3e0=house 1f3e1=house_with_garden",
   "1f3e2=office,office_building 1f3e3=japanese_post_office,post_office",
   "1f3e4=european_post_office 1f3e5=hospital 1f3e6=bank 1f3e7=atm,atm_sign 1f3e8=hotel",
   "1f3e9=love_hotel 1f3ea=convenience_store 1f3eb=school 1f3ec=department_store 1f3ed=factory",
   "1f3ee=izakaya_lantern,lantern,red_paper_lantern 1f3ef=japanese_castle",
   "1f3f0=castle,european_castle 1f3f3=waving_white_flag,white_flag",
   "1f3f3-fe0f-200d-1f308=rainbow_flag 1f3f4=black_flag,waving_black_flag",
   "1f3f4-200d-2620-fe0f=pirate_flag 1f3f4-e0067-e0062-e0065-e006e-e0067-e007f=england",
   "1f3f4-e0067-e0062-e0073-e0063-e0074-e007f=scotland",
   "1f3f4-e0067-e0062-e0077-e006c-e0073-e007f=wales 1f3f5=rosette 1f3f7=label",
   "1f3f8=badminton,badminton_racquet_and_shuttlecock 1f3f9=bow_and_arrow 1f3fa=amphora",
   "1f3fb=emoji_modifier_fitzpatrick_type__1__2,light_skin_tone",
   "1f3fc=emoji_modifier_fitzpatrick_type__3,medium_light_skin_tone",
   "1f3fd=emoji_modifier_fitzpatrick_type__4,medium_skin_tone",
   "1f3fe=emoji_modifier_fitzpatrick_type__5,medium_dark_skin_tone",
   "1f3ff=dark_skin_tone,emoji_modifier_fitzpatrick_type__6 1f400=rat 1f401=mouse2 1f402=ox",
   "1f403=water_buffalo 1f404=cow2 1f405=tiger2 1f406=leopard 1f407=rabbit2 1f408=cat2",
   "1f409=dragon 1f40a=crocodile 1f40b=whale2 1f40c=snail 1f40d=snake 1f40e=racehorse 1f40f=ram",
   "1f410=goat 1f411=ewe,sheep 1f412=monkey 1f413=rooster 1f414=chicken 1f415=dog2",
   "1f415-200d-1f9ba=service_dog 1f416=pig2 1f417=boar 1f418=elephant 1f419=octopus",
   "1f41a=shell,spiral_shell 1f41b=bug 1f41c=ant 1f41d=bee,honeybee 1f41e=beetle,lady_beetle",
   "1f41f=fish 1f420=tropical_fish 1f421=blowfish 1f422=turtle 1f423=hatching_chick",
   "1f424=baby_chick 1f425=front-facing_baby_chick,hatched_chick 1f426=bird 1f427=penguin",
   "1f428=koala 1f429=poodle 1f42a=dromedary_camel 1f42b=camel,two-hump_camel"]

/-- Pictures from U+1F42C on. -/
def picturesD : List String :=
  ["1f42c=dolphin,flipper 1f42d=mouse,mouse_face 1f42e=cow,cow_face 1f42f=tiger,tiger_face",
   "1f430=rabbit,rabbit_face 1f431=cat,cat_face 1f432=dragon_face 1f433=spouting_whale,whale",
   "1f434=horse,horse_face 1f435=monkey_face 1f436=dog,dog_face 1f437=pig,pig_face",
   "1f438=frog,frog_face 1f439=hamster,hamster_face 1f43a=wolf,wolf_face 1f43b=bear,bear_face",
   "1f43c=panda_face 1f43d=pig_nose 1f43e=feet,paw_prints 1f43f=chipmunk 1f440=eyes 1f441=eye",
   "1f441-fe0f-200d-1f5e8-fe0f=eye_in_speech_bubble 1f442=ear+ 1f443=nose+ 1f444=lips,mouth",
   "1f445=tongue 1f446=backhand_index_pointing_up+,point_up_2",
   "1f447=backhand_index_pointing_down+,point_down 1f448=backhand_index_pointing_left+,point_left",
   "1f449=backhand_index_pointing_right+,point_right 1f44a=facepunch,oncoming_fist+,punch",
   "1f44b=wave,waving_hand+ 1f44c=ok_hand+ 1f44d=+1,thumbs_up+,thumbsup",
   "1f44e=-1,__1,thumbs_down+,thumbsdown 1f44f=clap,clapping_hands+ 1f450=open_hands+ 1f451=crown",
   "1f452=womans_hat,woman’s_hat 1f453=eyeglasses,glasses 1f454=necktie",
   "1f455=shirt,t-shirt,tshirt 1f456=jeans 1f457=dress 1f458=kimono 1f459=bikini",
   "1f45a=womans_clothes,woman’s_clothes 1f45b=purse 1f45c=handbag 1f45d=clutch_bag,pouch",
   "1f45e=mans_shoe,man’s_shoe,shoe 1f45f=athletic_shoe,running_shoe",
   "1f460=high-heeled_shoe,high_heel 1f461=sandal,woman’s_sandal 1f462=boot,woman’s_boot",
   "1f463=footprints 1f464=bust_in_silhouette 1f465=busts_in_silhouette 1f466=boy+ 1f467=girl+",
   "1f468=man+ 1f468-200d-2695-fe0f=man_health_worker+ 1f468-200d-2696-fe0f=man_judge+",
   "1f468-200d-2708-fe0f=man_pilot+ 1f468-200d-2764-fe0f-200d-1f468=couple_with_heart_man_man",
   "1f468-200d-2764-fe0f-200d-1f48b-200d-1f468=kiss_man_man 1f468-200d-1f33e=man_farmer+",
   "1f468-200d-1f373=man_cook+ 1f468-200d-1f393=man_student+ 1f468-200d-1f3a4=man_singer+",
   "1f468-200d-1f3a8=man_artist+ 1f468-200d-1f3eb=man_teacher+",
   "1f468-200d-1f3ed=man_factory_worker+ 1f468-200d-1f466=family_man_boy",
   "1f468-200d-1f466-200d-1f466=family_man_boy_boy 1f468-200d-1f467=family_man_girl",
   "1f468-200d-1f467-200d-1f466=family_man_girl_boy",
   "1f468-200d-1f467-200d-1f467=family_man_girl_girl",
   "1f468-200d-1f468-200d-1f466=family_man_man_boy",
   "1f468-200d-1f468-200d-1f466-200d-1f466=family_man_man_boy_boy",
   "1f468-200d-1f468-200d-1f467=family_man_man_girl",
   "1f468-200d-1f468-200d-1f467-200d-1f466=family_man_man_girl_boy",
   "1f468-200d-1f468-200d-1f467-200d-1f467=family_man_man_girl_girl",
   "1f468-200d-1f469-200d-1f466=family_man_woman_boy",
   "1f468-200d-1f469-200d-1f466-200d-1f466=family_man_woman_boy_boy",
   "1f468-200d-1f469-200d-1f467=family_man_woman_girl",
   "1f468-200d-1f469-200d-1f467-200d-1f466=family_man_woman_girl_boy",
   "1f468-200d-1f469-200d-1f467-200d-1f467=family_man_woman_girl_girl",
   "1f468-200d-1f4bb=man_technologist+ 1f468-200d-1f4bc=man_office_worker+",
   "1f468-200d-1f527=man_mechanic+ 1f468-200d-1f52c=man_scientist+",
   "1f468-200d-1f680=man_astronaut+ 1f468-200d-1f692=man_firefighter+",
   "1f468-200d-1f9af=man_with_probing_cane 1f468-200d-1f9b0=red-haired_man",
   "1f468-200d-1f9b1=curly-haired_man 1f468-200d-1f9b2=bald_man 1f468-200d-1f9b3=white-haired_man",
   "1f468-200d-1f9bc=man_in_motorized_wheelchair 1f468-200d-1f9bd=man_in_manual_wheelchair",
   "1f469=woman+ 1f469-200d-2695-fe0f=woman_health_worker+ 1f469-200d-2696-fe0f=woman_judge+",
   "1f469-200d-2708-fe0f=woman_pilot+ 1f469-200d-2764-fe0f-200d-1f468=couple_with_heart_woman_man",
   "1f469-200d-2764-fe0f-200d-1f469=couple_with_heart_woman_woman",
   "1f469-200d-2764-fe0f-200d-1f48b-200d-1f468=kiss_woman_man",
   "1f469-200d-2764-fe0f-200d-1f48b-200d-1f469=kiss_woman_woman 1f469-200d-1f33e=woman_farmer+",
   "1f469-200d-1f373=woman_cook+ 1f469-200d-1f393=woman_student+ 1f469-200d-1f3a4=woman_singer+",
   "1f469-200d-1f3a8=woman_artist+ 1f469-200d-1f3eb=woman_teacher+",
   "1f469-200d-1f3ed=woman_factory_worker+ 1f469-200d-1f466=family_woman_boy",
   "1f469-200d-1f466-200d-1f466=family_woman_boy_boy 1f469-200d-1f467=family_woman_girl",
   "1f469-200d-1f467-200d-1f466=family_woman_girl_boy",
   "1f469-200d-1f467-200d-1f467=family_woman_girl_girl",
   "1f469-200d-1f469-200d-1f466=family_woman_woman_boy",
   "1f469-200d-1f469-200d-1f466-200d-1f466=family_woman_woman_boy_boy",
   "1f469-200d-1f469-200d-1f467=family_woman_woman_girl",
   "1f469-200d-1f469-200d-1f467-200d-1f466=family_woman_woman_girl_boy",
   "1f469-200d-1f469-200d-1f467-200d-1f467=family_woman_woman_girl_girl",
   "1f469-200d-1f4bb=woman_technologist+ 1f469-200d-1f4bc=woman_office_worker+",
   "1f469-200d-1f527=woman_mechanic+ 1f469-200d-1f52c=woman_scientist+",
   "1f469-200d-1f680=woman_astronaut+ 1f469-200d-1f692=woman_firefighter+",
   "1f469-200d-1f9af=woman_with_probing_cane 1f469-200d-1f9b0=red-haired_woman",
   "1f469-200d-1f9b1=curly-haired_woman 1f469-200d-1f9b2=bald_woman",
   "1f469-200d-1f9b3=white-haired_woman 1f469-200d-1f9bc=woman_in_motorized_wheelchair",
   "1f469-200d-1f9bd=woman_in_manual_wheelchair 1f46a=family",
   "1f46b=couple,man_and_woman_holding_hands 1f46c=two_men_holding_hands",
   "1f46d=two_women_holding_hands 1f46e=cop,police_officer+",
   "1f46e-200d-2640-fe0f=woman_police_officer+ 1f46e-200d-2642-fe0f=man_police_officer+",
   "1f46f=dancers,people_with_bunny_ears 1f46f-200d-2640-fe0f=women_with_bunny_ears",
   "1f46f-200d-2642-fe0f=men_with_bunny_ears 1f470=bride_with_veil+",
   "1f471=blond-haired_person+,person_with_blond_hair 1f471-200d-2640-fe0f=blond-haired_woman+",
   "1f471-200d-2642-fe0f=blond-haired_man+ 1f472=man_with_chinese_cap+,man_with_gua_pi_mao",
   "1f473=man_with_turban,person_wearing_turban+ 1f473-200d-2640-fe0f=woman_wearing_turban+",
   "1f473-200d-2642-fe0f=man_wearing_turban+ 1f474=old_man+,older_man",
   "1f475=old_woman+,older_woman 1f476=baby+ 1f477=construction_worker+",
   "1f477-200d-2640-fe0f=woman_construction_worker+ 1f477-200d-2642-fe0f=man_construction_worker+",
   "1f478=princess+ 1f479=japanese_ogre,ogre 1f47a=goblin,japanese_goblin 1f47b=ghost",
   "1f47c=angel,baby_angel+ 1f47d=alien 1f47e=alien_monster,space_invader",
   "1f47f=angry_face_with_horns,imp 1f480=skull",
   "1f481=information_desk_person,person_tipping_hand+ 1f481-200d-2640-fe0f=woman_tipping_hand+",
   "1f481-200d-2642-fe0f=man_tipping_hand+ 1f482=guard+,guardsman",
   "1f482-200d-2640-fe0f=woman_guard+ 1f482-200d-2642-fe0f=man_guard+ 1f483=dancer,woman_dancing+",
   "1f484=lipstick 1f485=nail_care,nail_polish+ 1f486=massage,person_getting_massage+",
   "1f486-200d-2640-fe0f=woman_getting_massage+ 1f486-200d-2642-fe0f=man_getting_massage+",
   "1f487=haircut,person_getting_haircut+ 1f487-200d-2640-fe0f=woman_getting_haircut+",
   "1f487-200d-2642-fe0f=man_getting_haircut+ 1f488=barber,barber_pole 1f489=syringe 1f48a=pill",
   "1f48b=kiss,kiss_mark 1f48c=love_letter 1f48d=ring 1f48e=gem,gem_stone 1f48f=couplekiss",
   "1f490=bouquet 1f491=couple_with_heart 1f492=wedding 1f493=beating_heart,heartbeat",
   "1f494=broken_heart 1f495=two_hearts 1f496=sparkling_heart 1f497=growing_heart,heartpulse",
   "1f498=cupid,heart_with_arrow 1f499=blue_heart 1f49a=green_heart 1f49b=yellow_heart"]

/-- Pictures from U+1F49C on. -/
def picturesE : List String :=
  ["1f49c=purple_heart 1f49d=gift_heart,heart_with_ribbon 1f49e=revolving_hearts",
   "1f49f=heart_decoration 1f4a0=diamond_shape_with_a_dot_inside,diamond_with_a_dot",
   "1f4a1=bulb,light_bulb 1f4a2=anger,anger_symbol 1f4a3=bomb 1f4a4=zzz 1f4a5=boom,collision",
   "1f4a6=sweat_droplets,sweat_drops 1f4a7=droplet 1f4a8=dash,dashing_away",
   "1f4a9=hankey,pile_of_poo,poop,shit 1f4aa=flexed_biceps+,muscle 1f4ab=dizzy",
   "1f4ac=speech_balloon 1f4ad=thought_balloon 1f4ae=white_flower 1f4af=100,hundred_points",
   "1f4b0=money_bag,moneybag 1f4b1=currency_exchange 1f4b2=heavy_dollar_sign 1f4b3=credit_card",
   "1f4b4=yen,yen_banknote 1f4b5=dollar,dollar_banknote 1f4b6=euro,euro_banknote",
   "1f4b7=pound,pound_banknote 1f4b8=money_with_wings 1f4b9=chart,chart_increasing_with_yen",
   "1f4ba=seat 1f4bb=computer,laptop_computer 1f4bc=briefcase 1f4bd=computer_disk,minidisc",
   "1f4be=floppy_disk 1f4bf=cd,optical_disk 1f4c0=dvd 1f4c1=file_folder 1f4c2=open_file_folder",
   "1f4c3=page_with_curl 1f4c4=page_facing_up 1f4c5=date 1f4c6=calendar,tear-off_calendar",
   "1f4c7=card_index 1f4c8=chart_increasing,chart_with_upwards_trend",
   "1f4c9=chart_decreasing,chart_with_downwards_trend 1f4ca=bar_chart 1f4cb=clipboard",
   "1f4cc=pushpin 1f4cd=round_pushpin 1f4ce=paperclip 1f4cf=straight_ruler 1f4d0=triangular_ruler",
   "1f4d1=bookmark_tabs 1f4d2=ledger 1f4d3=notebook 1f4d4=notebook_with_decorative_cover",
   "1f4d5=closed_book 1f4d6=book,open_book 1f4d7=green_book 1f4d8=blue_book 1f4d9=orange_book",
   "1f4da=books 1f4db=name_badge 1f4dc=scroll 1f4dd=memo,pencil 1f4de=telephone_receiver",
   "1f4df=pager 1f4e0=fax,fax_machine 1f4e1=satellite,satellite_antenna 1f4e2=loudspeaker",
   "1f4e3=mega,megaphone 1f4e4=outbox_tray 1f4e5=inbox_tray 1f4e6=package 1f4e7=e-mail,e__mail",
   "1f4e8=incoming_envelope 1f4e9=envelope_with_arrow",
   "1f4ea=closed_mailbox_with_lowered_flag,mailbox_closed",
   "1f4eb=closed_mailbox_with_raised_flag,mailbox",
   "1f4ec=mailbox_with_mail,open_mailbox_with_raised_flag",
   "1f4ed=mailbox_with_no_mail,open_mailbox_with_lowered_flag 1f4ee=postbox 1f4ef=postal_horn",
   "1f4f0=newspaper 1f4f1=iphone,mobile_phone 1f4f2=calling,mobile_phone_with_arrow",
   "1f4f3=vibration_mode 1f4f4=mobile_phone_off 1f4f5=no_mobile_phones",
   "1f4f6=antenna_bars,signal_strength 1f4f7=camera 1f4f8=camera_with_flash 1f4f9=video_camera",
   "1f4fa=television,tv 1f4fb=radio 1f4fc=vhs,videocassette 1f4fd=film_projector",
   "1f4ff=prayer_beads 1f500=shuffle_tracks_button,twisted_rightwards_arrows",
   "1f501=repeat,repeat_button 1f502=repeat_one,repeat_single_button",
   "1f503=arrows_clockwise,clockwise_vertical_arrows",
   "1f504=arrows_counterclockwise,counterclockwise_arrows_button 1f505=dim_button,low_brightness",
   "1f506=bright_button,high_brightness 1f507=mute,muted_speaker 1f508=speaker,speaker_low_volume",
   "1f509=sound,speaker_medium_volume 1f50a=loud_sound,speaker_high_volume 1f50b=battery",
   "1f50c=electric_plug 1f50d=mag,magnifying_glass_tilted_left",
   "1f50e=mag_right,magnifying_glass_tilted_right 1f50f=lock_with_ink_pen,locked_with_pen",
   "1f510=closed_lock_with_key,locked_with_key 1f511=key 1f512=lock,locked 1f513=unlock,unlocked",
   "1f514=bell 1f515=bell_with_slash,no_bell 1f516=bookmark 1f517=link 1f518=radio_button",
   "1f519=back,back_arrow 1f51a=end,end_arrow 1f51b=on,on!_arrow 1f51c=soon,soon_arrow",
   "1f51d=top,top_arrow 1f51e=no_one_under_eighteen,underage 1f51f=keycap_10,ten",
   "1f520=capital_abcd,input_latin_uppercase 1f521=abcd,input_latin_lowercase",
   "1f522=1234,input_numbers 1f523=input_symbols,symbols 1f524=abc,input_latin_letters 1f525=fire",
   "1f526=flashlight 1f527=wrench 1f528=hammer 1f529=nut_and_bolt 1f52a=hocho,kitchen_knife,knife",
   "1f52b=gun,pistol 1f52c=microscope 1f52d=telescope 1f52e=crystal_ball",
   "1f52f=dotted_six-pointed_star,six_pointed_star 1f530=beginner,japanese_symbol_for_beginner",
   "1f531=trident,trident_emblem 1f532=black_square_button 1f533=white_square_button",
   "1f534=red_circle 1f535=blue_circle,large_blue_circle 1f536=large_orange_diamond",
   "1f537=large_blue_diamond 1f538=small_orange_diamond 1f539=small_blue_diamond",
   "1f53a=red_triangle_pointed_up,small_red_triangle",
   "1f53b=red_triangle_pointed_down,small_red_triangle_down 1f53c=arrow_up_small,upwards_button",
   "1f53d=arrow_down_small,downwards_button 1f549=om,om_symbol 1f54a=dove,dove_of_peace",
   "1f54b=kaaba 1f54c=mosque 1f54d=synagogue 1f54e=menorah,menorah_with_nine_branches",
   "1f550=clock1,one_o’clock 1f551=clock2,two_o’clock 1f552=clock3,three_o’clock",
   "1f553=clock4,four_o’clock 1f554=clock5,five_o’clock 1f555=clock6,six_o’clock",
   "1f556=clock7,seven_o’clock 1f557=clock8,eight_o’clock 1f558=clock9,nine_o’clock",
   "1f559=clock10,ten_o’clock 1f55a=clock11,eleven_o’clock 1f55b=clock12,twelve_o’clock",
   "1f55c=clock130,one-thirty 1f55d=clock230,two-thirty 1f55e=clock330,three-thirty",
   "1f55f=clock430,four-thirty 1f560=clock530,five-thirty 1f561=clock630,six-thirty",
   "1f562=clock730,seven-thirty 1f563=clock830,eight-thirty 1f564=clock930,nine-thirty",
   "1f565=clock1030,ten-thirty 1f566=clock1130,eleven-thirty 1f567=clock1230,twelve-thirty",
   "1f56f=candle 1f570=mantelpiece_clock 1f573=hole",
   "1f574=man_in_business_suit_levitating,man_in_suit_levitating+ 1f575=detective+,sleuth_or_spy",
   "1f575-fe0f-200d-2640-fe0f=woman_detective+ 1f575-fe0f-200d-2642-fe0f=man_detective+",
   "1f576=dark_sunglasses 1f577=spider 1f578=spider_web 1f579=joystick 1f57a=man_dancing+",
   "1f587=linked_paperclips 1f58a=lower_left_ballpoint_pen,pen",
   "1f58b=fountain_pen,lower_left_fountain_pen 1f58c=lower_left_paintbrush,paintbrush",
   "1f58d=crayon,lower_left_crayon",
   "1f590=hand_with_fingers_splayed+,raised_hand_with_fingers_splayed",
   "1f595=middle_finger+,reversed_hand_with_middle_finger_extended",
   "1f596=raised_hand_with_part_between_middle_and_ring_fingers,vulcan_salute+ 1f5a4=black_heart",
   "1f5a5=desktop_computer 1f5a8=printer 1f5b1=computer_mouse,three_button_mouse 1f5b2=trackball",
   "1f5bc=frame_with_picture,framed_picture 1f5c2=card_index_dividers 1f5c3=card_file_box",
   "1f5c4=file_cabinet 1f5d1=wastebasket 1f5d2=spiral_note_pad,spiral_notepad",
   "1f5d3=spiral_calendar,spiral_calendar_pad 1f5dc=clamp,compression 1f5dd=old_key",
   "1f5de=rolled-up_newspaper,rolled__up_newspaper 1f5e1=dagger,dagger_knife",
   "1f5e3=speaking_head,speaking_head_in_silhouette 1f5e8=left_speech_bubble",
   "1f5ef=right_anger_bubble 1f5f3=ballot_box_with_ballot 1f5fa=world_map 1f5fb=mount_fuji",
   "1f5fc=tokyo_tower 1f5fd=statue_of_liberty 1f5fe=japan,map_of_japan 1f5ff=moai,moyai",
   "1f600=grinning,grinning_face 1f601=beaming_face_with_smiling_eyes,grin",
   "1f602=face_with_tears_of_joy,joy 1f603=grinning_face_with_big_eyes,smiley",
   "1f604=grinning_face_with_smiling_eyes,smile 1f605=grinning_face_with_sweat,sweat_smile",
   "1f606=grinning_squinting_face,laughing,satisfied 1f607=innocent,smiling_face_with_halo",
   "1f608=smiling_face_with_horns,smiling_imp 1f609=wink,winking_face",
   "1f60a=blush,smiling_face_with_smiling_eyes 1f60b=face_savoring_food,yum",
   "1f60c=relieved,relieved_face 1f60d=heart_eyes,smiling_face_with_heart-eyes",
   "1f60e=smiling_face_with_sunglasses,sunglasses 1f60f=smirk,smirking_face 1f610=neutral_face",
   "1f611=expressionless,expressionless_face 1f612=unamused,unamused_face",
   "1f613=downcast_face_with_sweat,sweat 1f614=pensive,pensive_face 1f615=confused,confused_face",
   "1f616=confounded,confounded_face 1f617=kissing,kissing_face"]

/-- Pictures from U+1F618 on. -/
def picturesF : List String :=
  ["1f618=face_blowing_a_kiss,kissing_heart",
   "1f619=kissing_face_with_smiling_eyes,kissing_smiling_eyes",
   "1f61a=kissing_closed_eyes,kissing_face_with_closed_eyes",
   "1f61b=face_with_tongue,stuck_out_tongue",
   "1f61c=stuck_out_tongue_winking_eye,winking_face_with_tongue",
   "1f61d=squinting_face_with_tongue,stuck_out_tongue_closed_eyes",
   "1f61e=disappointed,disappointed_face 1f61f=worried,worried_face 1f620=angry,angry_face",
   "1f621=pouting_face,rage 1f622=cry,crying_face 1f623=persevere,persevering_face",
   "1f624=face_with_steam_from_nose,triumph 1f625=disappointed_relieved,sad_but_relieved_face",
   "1f626=frowning,frowning_face_with_open_mouth 1f627=anguished,anguished_face",
   "1f628=fearful,fearful_face 1f629=weary,weary_face 1f62a=sleepy,sleepy_face 1f62b=tired_face",
   "1f62c=grimacing,grimacing_face 1f62d=loudly_crying_face,sob",
   "1f62e=face_with_open_mouth,open_mouth 1f62f=hushed,hushed_face",
   "1f630=anxious_face_with_sweat,cold_sweat 1f631=face_screaming_in_fear,scream",
   "1f632=astonished,astonished_face 1f633=flushed,flushed_face 1f634=sleeping,sleeping_face",
   "1f635=dizzy_face 1f636=face_without_mouth,no_mouth 1f637=face_with_medical_mask,mask",
   "1f638=grinning_cat_face_with_smiling_eyes,smile_cat 1f639=cat_face_with_tears_of_joy,joy_cat",
   "1f63a=grinning_cat_face,smiley_cat 1f63b=heart_eyes_cat,smiling_cat_face_with_heart-eyes",
   "1f63c=cat_face_with_wry_smile,smirk_cat 1f63d=kissing_cat,kissing_cat_face",
   "1f63e=pouting_cat,pouting_cat_face 1f63f=crying_cat_face 1f640=scream_cat,weary_cat_face",
   "1f641=slightly_frowning_face 1f642=slightly_smiling_face",
   "1f643=upside-down_face,upside__down_face 1f644=face_with_rolling_eyes",
   "1f645=no_good,person_gesturing_no+ 1f645-200d-2640-fe0f=woman_gesturing_no+",
   "1f645-200d-2642-fe0f=man_gesturing_no+ 1f646=ok_woman,person_gesturing_ok+",
   "1f646-200d-2640-fe0f=woman_gesturing_ok+ 1f646-200d-2642-fe0f=man_gesturing_ok+",
   "1f647=bow,person_bowing+ 1f647-200d-2640-fe0f=woman_bowing+ 1f647-200d-2642-fe0f=man_bowing+",
   "1f648=see-no-evil_monkey,see_no_evil 1f649=hear-no-evil_monkey,hear_no_evil",
   "1f64a=speak-no-evil_monkey,speak_no_evil 1f64b=person_raising_hand+,raising_hand",
   "1f64b-200d-2640-fe0f=woman_raising_hand+ 1f64b-200d-2642-fe0f=man_raising_hand+",
   "1f64c=raised_hands,raising_hands+ 1f64d=person_frowning+ 1f64d-200d-2640-fe0f=woman_frowning+",
   "1f64d-200d-2642-fe0f=man_frowning+ 1f64e=person_pouting+,person_with_pouting_face",
   "1f64e-200d-2640-fe0f=woman_pouting+ 1f64e-200d-2642-fe0f=man_pouting+",
   "1f64f=folded_hands+,pray 1f680=rocket 1f681=helicopter 1f682=locomotive,steam_locomotive",
   "1f683=railway_car 1f684=bullettrain_side,high-speed_train",
   "1f685=bullet_train,bullettrain_front 1f686=train2 1f687=metro 1f688=light_rail 1f689=station",
   "1f68a=tram 1f68b=train,tram_car 1f68c=bus 1f68d=oncoming_bus 1f68e=trolleybus",
   "1f68f=bus_stop,busstop 1f690=minibus 1f691=ambulance 1f692=fire_engine 1f693=police_car",
   "1f694=oncoming_police_car 1f695=taxi 1f696=oncoming_taxi 1f697=automobile,car,red_car",
   "1f698=oncoming_automobile 1f699=blue_car,sport_utility_vehicle 1f69a=delivery_truck,truck",
   "1f69b=articulated_lorry 1f69c=tractor 1f69d=monorail 1f69e=mountain_railway",
   "1f69f=suspension_railway 1f6a0=mountain_cableway 1f6a1=aerial_tramway 1f6a2=ship",
   "1f6a3=person_rowing_boat+,rowboat 1f6a3-200d-2640-fe0f=woman_rowing_boat+",
   "1f6a3-200d-2642-fe0f=man_rowing_boat+ 1f6a4=speedboat",
   "1f6a5=horizontal_traffic_light,traffic_light 1f6a6=vertical_traffic_light 1f6a7=construction",
   "1f6a8=police_car_light,rotating_light 1f6a9=triangular_flag,triangular_flag_on_post",
   "1f6aa=door 1f6ab=no_entry_sign,prohibited 1f6ac=cigarette,smoking 1f6ad=no_smoking",
   "1f6ae=litter_in_bin_sign,put_litter_in_its_place 1f6af=do_not_litter,no_littering",
   "1f6b0=potable_water 1f6b1=non-potable_water,non__potable_water 1f6b2=bicycle,bike",
   "1f6b3=no_bicycles 1f6b4=bicyclist,person_biking+ 1f6b4-200d-2640-fe0f=woman_biking+",
   "1f6b4-200d-2642-fe0f=man_biking+ 1f6b5=mountain_bicyclist,person_mountain_biking+",
   "1f6b5-200d-2640-fe0f=woman_mountain_biking+ 1f6b5-200d-2642-fe0f=man_mountain_biking+",
   "1f6b6=person_walking+,walking 1f6b6-200d-2640-fe0f=woman_walking+",
   "1f6b6-200d-2642-fe0f=man_walking+ 1f6b7=no_pedestrians 1f6b8=children_crossing",
   "1f6b9=mens,men’s_room 1f6ba=womens,women’s_room 1f6bb=restroom 1f6bc=baby_symbol 1f6bd=toilet",
   "1f6be=water_closet,wc 1f6bf=shower 1f6c0=bath,person_taking_bath+ 1f6c1=bathtub",
   "1f6c2=passport_control 1f6c3=customs 1f6c4=baggage_claim 1f6c5=left_luggage",
   "1f6cb=couch_and_lamp 1f6cc=person_in_bed+,sleeping_accommodation 1f6cd=shopping_bags",
   "1f6ce=bellhop_bell 1f6cf=bed 1f6d0=place_of_worship 1f6d1=stop_sign 1f6d2=shopping_cart",
   "1f6d5=hindu_temple 1f6e0=hammer_and_wrench 1f6e1=shield 1f6e2=oil_drum 1f6e3=motorway",
   "1f6e4=railway_track 1f6e5=motor_boat 1f6e9=small_airplane 1f6eb=airplane_departure",
   "1f6ec=airplane_arrival,airplane_arriving 1f6f3=passenger_ship 1f6f4=kick_scooter",
   "1f6f5=motor_scooter 1f6f6=canoe 1f6f7=sled 1f6f8=flying_saucer 1f6f9=skateboard",
   "1f6fa=auto_rickshaw 1f7e0=orange_circle 1f7e1=yellow_circle 1f7e2=green_circle",
   "1f7e3=purple_circle 1f7e4=brown_circle 1f7e5=red_square 1f7e6=blue_square 1f7e7=orange_square",
   "1f7e8=yellow_square 1f7e9=green_square 1f7ea=purple_square 1f7eb=brown_square",
   "1f90d=white_heart 1f90e=brown_heart 1f90f=pinching_hand",
   "1f910=zipper-mouth_face,zipper__mouth_face 1f911=money-mouth_face,money__mouth_face",
   "1f912=face_with_thermometer 1f913=nerd_face 1f914=thinking_face",
   "1f915=face_with_head-bandage,face_with_head__bandage 1f916=robot,robot_face",
   "1f917=hugging_face 1f918=sign_of_the_horns+ 1f919=call_me_hand+ 1f91a=raised_back_of_hand+",
   "1f91b=left-facing_fist+ 1f91c=right-facing_fist+ 1f91d=handshake 1f91e=crossed_fingers+",
   "1f91f=love-you_gesture+ 1f920=cowboy_hat_face 1f921=clown_face 1f922=nauseated_face",
   "1f923=rolling_on_the_floor_laughing 1f924=drooling_face 1f925=lying_face",
   "1f926=person_facepalming+ 1f926-200d-2640-fe0f=woman_facepalming+",
   "1f926-200d-2642-fe0f=man_facepalming+ 1f927=sneezing_face 1f928=face_with_raised_eyebrow",
   "1f929=star-struck 1f92a=zany_face 1f92b=shushing_face 1f92c=face_with_symbols_on_mouth",
   "1f92d=face_with_hand_over_mouth 1f92e=face_vomiting 1f92f=exploding_head",
   "1f930=pregnant_woman+ 1f931=breast-feeding+ 1f932=palms_up_together+ 1f933=selfie+",
   "1f934=prince+ 1f935=man_in_tuxedo+ 1f936=mrs._claus+ 1f937=person_shrugging+",
   "1f937-200d-2640-fe0f=woman_shrugging+ 1f937-200d-2642-fe0f=man_shrugging+",
   "1f938=person_cartwheeling+ 1f938-200d-2640-fe0f=woman_cartwheeling+",
   "1f938-200d-2642-fe0f=man_cartwheeling+ 1f939=person_juggling+",
   "1f939-200d-2640-fe0f=woman_juggling+ 1f939-200d-2642-fe0f=man_juggling+ 1f93a=person_fencing",
   "1f93c=people_wrestling 1f93c-200d-2640-fe0f=women_wrestling",
   "1f93c-200d-2642-fe0f=men_wrestling 1f93d=person_playing_water_polo+",
   "1f93d-200d-2640-fe0f=woman_playing_water_polo+ 1f93d-200d-2642-fe0f=man_playing_water_polo+",
   "1f93e=person_playing_handball+ 1f93e-200d-2640-fe0f=woman_playing_handball+",
   "1f93e-200d-2642-fe0f=man_playing_handball+ 1f93f=diving_mask 1f940=wilted_flower 1f941=drum",
   "1f942=clinking_glasses 1f943=tumbler_glass 1f944=spoon 1f945=goal_net 1f947=1st_place_medal",
   "1f948=2nd_place_medal 1f949=3rd_place_medal 1f94a=boxing_glove 1f94b=martial_arts_uniform"]

/-- Pictures from U+1F94C on. -/
def picturesG : List String :=
  ["1f94c=curling_stone 1f94d=lacrosse 1f94e=softball 1f94f=flying_disc 1f950=croissant",
   "1f951=avocado 1f952=cucumber 1f953=bacon 1f954=potato 1f955=carrot 1f956=baguette_bread",
   "1f957=green_salad 1f958=shallow_pan_of_food 1f959=stuffed_flatbread 1f95b=glass_of_milk",
   "1f95c=peanuts 1f95d=kiwi_fruit 1f95e=pancakes 1f95f=dumpling 1f960=fortune_cookie",
   "1f961=takeout_box 1f962=chopsticks 1f963=bowl_with_spoon 1f964=cup_with_straw 1f965=coconut",
   "1f966=broccoli 1f967=pie 1f968=pretzel 1f969=cut_of_meat 1f96a=sandwich 1f96b=canned_food",
   "1f96c=leafy_green 1f96d=mango 1f96e=moon_cake 1f96f=bagel 1f970=smiling_face_with_3_hearts",
   "1f971=yawning_face 1f973=partying_face 1f974=woozy_face 1f975=hot_face 1f976=cold_face",
   "1f97a=pleading_face 1f97b=sari 1f97c=lab_coat 1f97d=goggles 1f97e=hiking_boot 1f97f=flat_shoe",
   "1f980=crab 1f981=lion_face 1f982=scorpion 1f983=turkey 1f984=unicorn_face 1f985=eagle",
   "1f986=duck 1f987=bat 1f988=shark 1f989=owl 1f98a=fox_face 1f98b=butterfly 1f98c=deer",
   "1f98d=gorilla 1f98e=lizard 1f98f=rhinoceros 1f990=shrimp 1f991=squid 1f992=giraffe",
   "1f993=zebra 1f994=hedgehog 1f995=sauropod 1f996=t-rex 1f997=cricket 1f998=kangaroo",
   "1f999=llama 1f99a=peacock 1f99b=hippopotamus 1f99c=parrot 1f99d=raccoon 1f99e=lobster",
   "1f99f=mosquito 1f9a0=microbe 1f9a1=badger 1f9a2=swan 1f9a5=sloth 1f9a6=otter 1f9a7=orangutan",
   "1f9a8=skunk 1f9a9=flamingo 1f9aa=oyster 1f9ae=guide_dog 1f9af=probing_cane 1f9b0=red_hair",
   "1f9b1=curly_hair 1f9b2=bald 1f9b3=white_hair 1f9b4=bone 1f9b5=leg 1f9b6=foot 1f9b7=tooth",
   "1f9b8=superhero 1f9b9=supervillain 1f9ba=safety_vest 1f9bb=ear_with_hearing_aid",
   "1f9bc=motorized_wheelchair 1f9bd=manual_wheelchair 1f9be=mechanical_arm 1f9bf=mechanical_leg",
   "1f9c0=cheese_wedge 1f9c1=cupcake 1f9c2=salt 1f9c3=beverage_box 1f9c4=garlic 1f9c5=onion",
   "1f9c6=falafel 1f9c7=waffle 1f9c8=butter 1f9c9=mate 1f9ca=ice 1f9cd=person_standing",
   "1f9ce=person_kneeling 1f9cf=deaf_person 1f9d0=face_with_monocle 1f9d1=adult+",
   "1f9d1-200d-1f91d-200d-1f9d1=people_holding_hands 1f9d2=child+ 1f9d3=older_adult+",
   "1f9d4=bearded_person+ 1f9d5=woman_with_headscarf+ 1f9d6=person_in_steamy_room+",
   "1f9d6-200d-2640-fe0f=woman_in_steamy_room+ 1f9d6-200d-2642-fe0f=man_in_steamy_room+",
   "1f9d7=person_climbing+ 1f9d7-200d-2640-fe0f=woman_climbing+",
   "1f9d7-200d-2642-fe0f=man_climbing+ 1f9d8=person_in_lotus_position+",
   "1f9d8-200d-2640-fe0f=woman_in_lotus_position+ 1f9d8-200d-2642-fe0f=man_in_lotus_position+",
   "1f9d9=mage+ 1f9d9-200d-2640-fe0f=woman_mage+ 1f9d9-200d-2642-fe0f=man_mage+ 1f9da=fairy+",
   "1f9da-200d-2640-fe0f=woman_fairy+ 1f9da-200d-2642-fe0f=man_fairy+ 1f9db=vampire+",
   "1f9db-200d-2640-fe0f=woman_vampire+ 1f9db-200d-2642-fe0f=man_vampire+ 1f9dc=merperson+",
   "1f9dc-200d-2640-fe0f=mermaid+ 1f9dc-200d-2642-fe0f=merman+ 1f9dd=elf+",
   "1f9dd-200d-2640-fe0f=woman_elf+ 1f9dd-200d-2642-fe0f=man_elf+ 1f9de=genie",
   "1f9de-200d-2640-fe0f=woman_genie 1f9de-200d-2642-fe0f=man_genie 1f9df=zombie",
   "1f9df-200d-2640-fe0f=woman_zombie 1f9df-200d-2642-fe0f=man_zombie 1f9e0=brain",
   "1f9e1=orange_heart 1f9e2=billed_cap 1f9e3=scarf 1f9e4=gloves 1f9e5=coat 1f9e6=socks",
   "1f9e7=red_envelope 1f9e8=firecracker 1f9e9=jigsaw 1f9ea=test_tube 1f9eb=petri_dish 1f9ec=dna",
   "1f9ed=compass 1f9ee=abacus 1f9ef=fire_extinguisher 1f9f0=toolbox 1f9f1=brick 1f9f2=magnet",
   "1f9f3=luggage 1f9f4=lotion_bottle 1f9f5=thread 1f9f6=yarn 1f9f7=safety_pin 1f9f8=teddy_bear",
   "1f9f9=broom 1f9fa=basket 1f9fb=roll_of_paper 1f9fc=soap 1f9fd=sponge 1f9fe=receipt",
   "1f9ff=nazar_amulet 1fa70=ballet_shoes 1fa71=one-piece_swimsuit 1fa72=briefs 1fa73=shorts",
   "1fa78=drop_of_blood 1fa79=adhesive_bandage 1fa7a=stethoscope 1fa80=yo-yo 1fa81=kite",
   "1fa90=ringed_planet 1fa91=chair 1fa92=razor 1fa93=axe 1fa94=diya_lamp 1fa95=banjo"]

/-- All entries, several to a line with spaces between them. -/
def pictureTables : List String :=
  picturesA ++ picturesB ++ picturesC ++ picturesD ++ picturesE ++ picturesF ++ picturesG

end Scratchpad.Console
